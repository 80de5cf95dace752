import ChipEight.Failure

/-!
# Numbers that measure time

The pacing of the machine is written once for every kind of number that can measure elapsed time
and rates. The operations may fail, since a division may have a zero divisor and a number may be
too large for the form in which results are held.

Over exact fractions no operation but division by zero fails; the numbers the emulator runs on are
`Scalar`.

## Main definitions

* `TimeNumber`: the operations that pacing needs.
-/

namespace ChipEight

/-- The operations of a kind of number that measures elapsed time. -/
class TimeNumber (α : Type) where
  /-- A whole number. -/
  ofInt : Int → α
  /-- The number nearest to a fraction with a denominator above zero. -/
  ratio : Int → Nat → α
  /-- Sum. -/
  add : α → α → Except Failure α
  /-- Difference. -/
  sub : α → α → Except Failure α
  /-- Product. -/
  mul : α → α → Except Failure α
  /-- Quotient; a zero divisor fails. -/
  div : α → α → Except Failure α
  /-- Whether the first number is below the second. -/
  lt : α → α → Bool
  /-- Whether the first number is at most the second. -/
  le : α → α → Bool
  /-- The whole part, toward zero. -/
  whole : α → Except Failure Int

namespace TimeNumber

/-- The number zero in the form that credits are held in. -/
def zero {α : Type} [TimeNumber α] : α := ratio 0 1

end TimeNumber

end ChipEight
