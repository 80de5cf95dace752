import ChipEight.TimeNumber
import ChipEight.TimeNumber.Binary64

/-!
# Whole and real numbers together

The numbers that the emulator runs on: whole numbers of any size, which combine exactly, and
doubles. A whole number that meets a double is first rounded to the nearest one, and fails if it is
too large for that. A quotient is always a double, also of two whole numbers, and is then the one
nearest to the exact fraction. Comparisons are exact also between a whole number and a double, and
are false when one side is not a number.

## Main definitions

* `Scalar`: the numbers.
* `Scalar.toFloat`: a number as a double.
-/

namespace ChipEight

/-- A whole number or a double. -/
inductive Scalar
  | whole (n : Int)
  | real (x : Float)
  deriving Repr

namespace Scalar

/-- A number as a double. -/
def toFloat : Scalar → Except Failure Float
  | whole n =>
    match Binary64.ofInt? n with
    | some x => .ok x
    | none => .error .tooLarge
  | real x => .ok x

/-- An operation that keeps whole numbers whole and rounds them when they meet a double. -/
def combine (onWhole : Int → Int → Int) (onReal : Float → Float → Float) :
    Scalar → Scalar → Except Failure Scalar
  | whole a, whole b => .ok (whole (onWhole a b))
  | a, b => do return real (onReal (← a.toFloat) (← b.toFloat))

/-- The quotient of two numbers, a double. -/
def divide : Scalar → Scalar → Except Failure Scalar
  | whole a, whole b =>
    if b = 0 then .error .zeroDivisor
    else
      match Binary64.ofRatio? (a * b.sign) b.natAbs with
      | some x => .ok (real x)
      | none => .error .tooLarge
  | a, b => do
    let x ← a.toFloat
    let y ← b.toFloat
    if y == 0.0 then throw .zeroDivisor
    return real (x / y)

/-- Whether the first number is below the second. -/
def below : Scalar → Scalar → Bool
  | whole a, whole b => a < b
  | real x, real y => x < y
  | real x, whole n => Binary64.compareInt? x n == some .lt
  | whole n, real x => Binary64.compareInt? x n == some .gt

/-- Whether the first number is at most the second. -/
def atMost : Scalar → Scalar → Bool
  | whole a, whole b => a ≤ b
  | real x, real y => x ≤ y
  | real x, whole n => (Binary64.compareInt? x n).any (· != .gt)
  | whole n, real x => (Binary64.compareInt? x n).any (· != .lt)

/-- The whole part of a number, toward zero. -/
def wholePart : Scalar → Except Failure Int
  | whole n => .ok n
  | real x =>
    match Binary64.truncate? x with
    | some n => .ok n
    | none => .error (if x.isNaN then .notANumber else .tooLarge)

/-- The double nearest to a small fraction. -/
def ofRatio (num : Int) (den : Nat) : Scalar :=
  real ((Binary64.ofRatio? num den).getD 0.0)

instance : TimeNumber Scalar where
  ofInt := whole
  ratio := ofRatio
  add := combine (· + ·) (· + ·)
  sub := combine (· - ·) (· - ·)
  mul := combine (· * ·) (· * ·)
  div := divide
  lt := below
  le := atMost
  whole := wholePart

end Scalar

end ChipEight
