import RackElevation.Failure
import RackElevation.Binary64

/-!
# Numbers

A number of a layout is an exact integer or a binary64 number.  Integers stay exact among
themselves; as soon as one operand is binary64 the other is rounded to binary64 first, which fails
for an integer out of range.  Halving always gives a binary64 number.  Comparison never rounds.
-/

namespace RackElevation

/-- An exact integer or a binary64 number. -/
inductive Number where
  | int (value : Int)
  | real (value : Binary64)
  deriving DecidableEq

namespace Number

instance : Inhabited Number := ⟨.int 0⟩

instance (n : Nat) : OfNat Number n := ⟨.int n⟩

/-- A number as binary64, a failure if it is an integer out of range. -/
def toReal : Number → Except Failure Binary64
  | .real x => .ok x
  | .int n =>
      let x := Binary64.ofInt n
      if x.isFinite then .ok x else .error .integerTooLarge

/-- An operation that is exact on two integers and rounds otherwise. -/
def combine (exact : Int → Int → Int) (rounded : Binary64 → Binary64 → Binary64) :
    Number → Number → Except Failure Number
  | .int m, .int n => .ok (.int (exact m n))
  | a, b => do
      let x ← a.toReal
      let y ← b.toReal
      return .real (rounded x y)

/-- The sum. -/
def add : Number → Number → Except Failure Number :=
  combine (· + ·) Binary64.add

/-- The difference. -/
def sub : Number → Number → Except Failure Number :=
  combine (· - ·) Binary64.sub

/-- The product. -/
def mul : Number → Number → Except Failure Number :=
  combine (· * ·) Binary64.mul

/-- Half of a number, always binary64. -/
def half : Number → Except Failure Number
  | .real x => .ok (.real (x.div (Binary64.ofNat 2)))
  | .int n =>
      let x := Binary64.ofRatio (decide (n < 0)) (n.natAbs * Binary64.unit) 2
      if x.isFinite then .ok (.real x) else .error .quotientTooLarge

/-- Whether an integer is less than a binary64 number. -/
def intLtReal (n : Int) : Binary64 → Bool
  | .nan => false
  | .infinite negative => !negative
  | .finite s m _ => decide (n * Binary64.unit < Binary64.signedSteps s m)

/-- Whether a binary64 number is less than an integer. -/
def realLtInt (x : Binary64) (n : Int) : Bool :=
  match x with
  | .nan => false
  | .infinite negative => negative
  | .finite s m _ => decide (Binary64.signedSteps s m < n * Binary64.unit)

/-- Whether an integer is equal to a binary64 number. -/
def intEqvReal (n : Int) : Binary64 → Bool
  | .finite s m _ => decide (n * Binary64.unit = Binary64.signedSteps s m)
  | _ => false

/-- Whether a number is less than another, without rounding. -/
def lt : Number → Number → Bool
  | .int m, .int n => decide (m < n)
  | .int m, .real y => intLtReal m y
  | .real x, .int n => realLtInt x n
  | .real x, .real y => x.lt y

/-- Whether two numbers are equal in value, without rounding. -/
def eqv : Number → Number → Bool
  | .int m, .int n => decide (m = n)
  | .int m, .real y => intEqvReal m y
  | .real x, .int n => intEqvReal n x
  | .real x, .real y => x.eqv y

/-- Whether a number is at most another. -/
def le (a b : Number) : Bool :=
  a.lt b || a.eqv b

/-- The first of the numbers that no later one exceeds, or zero when there are none. -/
def maximum : List Number → Number
  | [] => 0
  | a :: rest => rest.foldl (fun best b => if best.lt b then b else best) a

/-- Whether a number is finite; a failure for an integer out of the range of binary64. -/
def isFinite (a : Number) : Except Failure Bool := do
  return (← a.toReal).isFinite

/-- An integer made from a binary64 number, with the two causes why there may be none. -/
def integerOf (f : Binary64 → Option Int) (x : Binary64) : Except Failure Int :=
  match f x with
  | some n => .ok n
  | none => .error (if x = .nan then .nanToInteger else .infinityToInteger)

/-- The integer nearest to a number, a tie going to the even one. -/
def round : Number → Except Failure Int
  | .int n => .ok n
  | .real x => integerOf Binary64.roundToInt? x

/-- The integer part of a number. -/
def truncate : Number → Except Failure Int
  | .int n => .ok n
  | .real x => integerOf Binary64.truncateToInt? x

end Number

end RackElevation
