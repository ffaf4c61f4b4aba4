/-!
# Binary64 numbers

The numbers of the 64 bit binary format, as a type whose arithmetic is defined here on exact
integers.  A finite number is a sign and a whole count of *steps*, where one step is the smallest
positive number 2^-1074.  A count is a magnitude of the format when it has at most 53 significant
bits and lies below 2^2098 steps (that is, below 2^1024).

## Rounding

Every operation computes its exact result as a quotient of naturals, measured in steps, and rounds
once with `nearestSteps`: to the nearest magnitude, a tie going to the even one.  A rounded count
that is out of range becomes an infinity.
-/

namespace RackElevation

/-- The least count of steps that is out of range. -/
@[irreducible]
def Binary64.limit : Nat := Nat.pow 2 2098

/-- Whether a count of steps is a magnitude: at most 53 significant bits, and in range. -/
def Binary64.Fits (steps : Nat) : Prop :=
  steps % Nat.pow 2 (steps.log2 + 1 - 53) = 0 ∧ steps < Binary64.limit

instance (steps : Nat) : Decidable (Binary64.Fits steps) :=
  inferInstanceAs (Decidable (_ ∧ _))

/-- A number of the format: finite, infinite or not a number. -/
inductive Binary64 where
  | finite (negative : Bool) (steps : Nat) (fits : Binary64.Fits steps)
  | infinite (negative : Bool)
  | nan
  deriving DecidableEq

namespace Binary64

/-- The number of steps in one. -/
@[irreducible]
def unit : Nat := Nat.pow 2 1074

/-- The quotient of two naturals, rounded to the nearest natural, a tie to the even one. -/
def halfEven (n d : Nat) : Nat :=
  let q := n / d
  let r := n % d
  if 2 * r < d then q else if d < 2 * r then q + 1 else q + q % 2

/-- The count with at most 53 significant bits that is nearest to a quotient. -/
def nearestSteps (n d : Nat) : Nat :=
  let grid := Nat.pow 2 ((n / d).log2 + 1 - 53)
  halfEven n (d * grid) * grid

/-- The number with a given sign and count of steps, infinite if the count is no magnitude. -/
def ofSteps (negative : Bool) (steps : Nat) : Binary64 :=
  if h : Fits steps then .finite negative steps h else .infinite negative

/-- The number nearest to a quotient that is measured in steps. -/
def ofRatio (negative : Bool) (n d : Nat) : Binary64 :=
  ofSteps negative (nearestSteps n d)

/-- The zero with a given sign. -/
def zero (negative : Bool) : Binary64 :=
  ofSteps negative 0

/-- The number nearest to an integer, infinite if there is none in range. -/
def ofInt (i : Int) : Binary64 :=
  ofRatio (decide (i < 0)) (i.natAbs * unit) 1

/-- The number nearest to a natural. -/
def ofNat (n : Nat) : Binary64 :=
  ofInt n

/-- The number nearest to a quotient of naturals. -/
def ofQuotient (n d : Nat) : Binary64 :=
  ofRatio false (n * unit) d

/-- A finite number as a signed count of steps. -/
def signedSteps (negative : Bool) (steps : Nat) : Int :=
  if negative then -(steps : Int) else steps

/-- Whether a number is finite. -/
def isFinite : Binary64 → Bool
  | .finite .. => true
  | _ => false

/-- The number with the other sign. -/
def neg : Binary64 → Binary64
  | .finite s m h => .finite (!s) m h
  | .infinite s => .infinite (!s)
  | .nan => .nan

/-- The sum; a sum of zero is negative only when both terms are negative zeros. -/
def add : Binary64 → Binary64 → Binary64
  | .nan, _ => .nan
  | _, .nan => .nan
  | .infinite s, .infinite t => if s = t then .infinite s else .nan
  | .infinite s, .finite .. => .infinite s
  | .finite .., .infinite t => .infinite t
  | .finite s m _, .finite t n _ =>
      let sum := signedSteps s m + signedSteps t n
      if sum = 0 then zero (s && t) else ofRatio (decide (sum < 0)) sum.natAbs 1

/-- The difference. -/
def sub (a b : Binary64) : Binary64 :=
  a.add b.neg

/-- The product; zero times infinity is not a number. -/
def mul : Binary64 → Binary64 → Binary64
  | .nan, _ => .nan
  | _, .nan => .nan
  | .infinite s, .infinite t => .infinite (s != t)
  | .infinite s, .finite t n _ => if n = 0 then .nan else .infinite (s != t)
  | .finite s m _, .infinite t => if m = 0 then .nan else .infinite (s != t)
  | .finite s m _, .finite t n _ => ofRatio (s != t) (m * n) unit

/-- The quotient; zero by zero and infinity by infinity are not numbers. -/
def div : Binary64 → Binary64 → Binary64
  | .nan, _ => .nan
  | _, .nan => .nan
  | .infinite _, .infinite _ => .nan
  | .infinite s, .finite t .. => .infinite (s != t)
  | .finite s .., .infinite t => zero (s != t)
  | .finite s m _, .finite t n _ =>
      if n = 0 then (if m = 0 then .nan else .infinite (s != t))
      else ofRatio (s != t) (m * unit) n

/-- Whether a number is less than another; never for a value that is not a number. -/
def lt : Binary64 → Binary64 → Bool
  | .nan, _ => false
  | _, .nan => false
  | .infinite s, .infinite t => s && !t
  | .infinite s, .finite .. => s
  | .finite .., .infinite t => !t
  | .finite s m _, .finite t n _ => decide (signedSteps s m < signedSteps t n)

/-- Whether two numbers are equal in value; never for a value that is not a number. -/
def eqv : Binary64 → Binary64 → Bool
  | .nan, _ => false
  | _, .nan => false
  | .infinite s, .infinite t => s == t
  | .infinite _, .finite .. => false
  | .finite .., .infinite _ => false
  | .finite s m _, .finite t n _ => decide (signedSteps s m = signedSteps t n)

/-- Whether a number is at most another. -/
def le (a b : Binary64) : Bool :=
  a.lt b || a.eqv b

/-- The part of a number above the next lower integer, for a modulus of one. -/
def fractionalPart : Binary64 → Binary64
  | .finite false m _ => ofSteps false (m % unit)
  | .finite true m _ =>
      if m % unit = 0 then zero false else (ofSteps true (m % unit)).add (ofNat 1)
  | _ => .nan

/-- The integer that a number is equal to, if there is one. -/
def whole? : Binary64 → Option Int
  | .finite s m _ => if m % unit = 0 then some (signedSteps s (m / unit)) else none
  | _ => none

/-- The integer nearest to a number, a tie going to the even one. -/
def roundToInt? : Binary64 → Option Int
  | .finite s m _ => some (signedSteps s (halfEven m unit))
  | _ => none

/-- The integer part of a number. -/
def truncateToInt? : Binary64 → Option Int
  | .finite s m _ => some (signedSteps s (m / unit))
  | _ => none

end Binary64

end RackElevation
