import ChipEight.TimeNumber
import Mathlib.Data.Rat.Floor

/-!
# Exact time

Rational numbers measure time without rounding, so over them the accounts of time can be followed
exactly. No operation fails but a division by zero, and the whole part of a number that is not below
zero is its floor.
-/

namespace ChipEight

instance : TimeNumber ℚ where
  ofInt n := n
  ratio := mkRat
  add a b := .ok (a + b)
  sub a b := .ok (a - b)
  mul a b := .ok (a * b)
  div a b := if b = 0 then .error .zeroDivisor else .ok (a / b)
  lt a b := a < b
  le a b := a ≤ b
  whole a := .ok (a.num.tdiv a.den)

namespace TimeNumber

variable {a b : ℚ}

theorem zero_exact : (zero : ℚ) = 0 :=
  Rat.zero_mkRat 1

theorem div_exact (hb : b ≠ 0) : div a b = .ok (a / b) :=
  if_neg hb

/-- Toward zero is down, for a number that is not below zero. -/
theorem whole_exact (ha : 0 ≤ a) : whole a = .ok ⌊a⌋ := by
  have hfloor : ⌊a⌋ = a.num.tdiv a.den := by
    rw [Rat.floor_def', Int.tdiv_eq_ediv_of_nonneg (Rat.num_nonneg.2 ha)]
  exact congrArg Except.ok hfloor.symm

end TimeNumber

end ChipEight
