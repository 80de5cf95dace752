/-!
# Exact passage between integers and binary64

The double nearest to a fraction of integers, ties going to the even significand, and the exact
value of a double as an integer over a power of two. Everything here is integer arithmetic on the
bits of a double, so the results are correctly rounded for operands of any size.

A finite double is `± m * 2 ^ e` with `m < 2 ^ 53` and `-1074 ≤ e ≤ 971`. Rounding a positive
fraction chooses the least `e` in that range for which the quotient by `2 ^ e` is below `2 ^ 53`,
rounds that quotient to the nearest integer, and overflows if no exponent is large enough.

## Main definitions

* `Binary64.ofRatio?`: the double nearest to a fraction, none if it overflows.
* `Binary64.toExact?`: a finite double as `m * 2 ^ e`.
* `Binary64.truncate?`: the whole part of a finite double, toward zero.
* `Binary64.compareInt?`: the exact comparison of a double with an integer.
-/

namespace ChipEight.Binary64

/-- The least exponent of a finite double. -/
def minExponent : Int := -1074

/-- The greatest exponent of a finite double. -/
def maxExponent : Int := 971

/-- The bound below which the significands of doubles lie, the power of two with exponent 53. -/
def significandBound : Nat := 0x20000000000000

/-- The leading bit of a full significand, which a double does not store. -/
def hiddenBit : Nat := 0x10000000000000

/-- The sign bit of a double. -/
def signBit : Nat := 0x8000000000000000

/-- The integer nearest to a fraction of natural numbers, a tie going to the even one. -/
def roundQuotient (num den : Nat) : Nat :=
  let floor := num / den
  let rest := num % den
  if 2 * rest < den ∨ (2 * rest = den ∧ floor % 2 = 0) then floor else floor + 1

/-- A power of two. -/
def powerOfTwo (n : Nat) : Nat :=
  1 <<< n

/-- The integer nearest to `num / (den * 2 ^ e)`, a tie going to the even one. -/
def roundAt (num den : Nat) (e : Int) : Nat :=
  if e < 0 then roundQuotient (num * powerOfTwo e.natAbs) den
  else roundQuotient num (den * powerOfTwo e.natAbs)

/-- The exponent at which a positive fraction has a quotient of 53 bits, or the least exponent if
that one is smaller. The estimate from the lengths of the two numbers is at most one too small. -/
def exponentFor (num den : Nat) : Int :=
  let estimate : Int := (num.log2 : Int) - den.log2 - 53
  let fits : Bool :=
    if estimate < 0 then num * powerOfTwo estimate.natAbs < den * significandBound
    else num < den * powerOfTwo estimate.natAbs * significandBound
  max minExponent (if fits then estimate else estimate + 1)

/-- The bits of the double `m * 2 ^ e`, for `m` at most `2 ^ 53` and an exponent in range. A
significand of `2 ^ 53` is the next power of two. -/
def magnitudeBits (m : Nat) (e : Int) : Option Nat :=
  if m < hiddenBit then some m
  else
    let (m, e) := if m = significandBound then (hiddenBit, e + 1) else (m, e)
    if e > maxExponent then none
    else some ((e - minExponent + 1).toNat * hiddenBit + (m - hiddenBit))

/-- The double nearest to a fraction with a denominator above zero, a tie going to the even
significand; none if the fraction is too large. -/
def ofRatio? (num : Int) (den : Nat) : Option Float :=
  let n := num.natAbs
  let e := exponentFor n den
  (magnitudeBits (if n = 0 then 0 else roundAt n den e) e).map fun bits ↦
    Float.ofBits (UInt64.ofNat (if num < 0 then bits + signBit else bits))

/-- The double nearest to an integer, none if it overflows. -/
def ofInt? (n : Int) : Option Float :=
  ofRatio? n 1

/-- A finite double as a signed significand and an exponent of two. -/
def toExact? (x : Float) : Option (Int × Int) :=
  let bits : Nat := x.toBits.toNat
  let exponent : Nat := bits / hiddenBit % 2048
  let fraction : Nat := bits % hiddenBit
  let sign : Int := if bits < signBit then 1 else -1
  if exponent = 2047 then none
  else if exponent = 0 then some (sign * fraction, minExponent)
  else some (sign * ((fraction + hiddenBit : Nat) : Int), (exponent : Int) - 1 + minExponent)

/-- The whole part of a finite double, toward zero. -/
def truncate? (x : Float) : Option Int :=
  (toExact? x).map fun (m, e) ↦
    if e < 0 then m.tdiv (powerOfTwo e.natAbs) else m * powerOfTwo e.natAbs

/-- The exact comparison of a double with an integer; none if the double is not a number. -/
def compareInt? (x : Float) (n : Int) : Option Ordering :=
  match toExact? x with
  | some (m, e) =>
    some (if e < 0 then compare m (n * powerOfTwo e.natAbs)
      else compare (m * powerOfTwo e.natAbs) n)
  | none => if x.isNaN then none else some (if x > 0 then .gt else .lt)

end ChipEight.Binary64
