import ChipEight.Text.Blank
import ChipEight.Text.DecimalDigit

/-!
# Reading whole numbers

The written form of a whole number is: blanks, at most one sign, digits, blanks. Single underscores
may stand between two digits. A digit may be a decimal digit of any script; in base sixteen it may
also be a letter from `a` to `f` in either case, and the digits may follow the mark `0x`, whose zero
may be of any script and which one underscore may separate from them.

A decimal numeral of more than `maxDecimalDigits` digits is refused. Base sixteen knows no limit.

## Main definitions

* `Numeral.read?`: the number that a text is a written form of.
-/

namespace ChipEight.Numeral

/-- The bases in which numbers are read. -/
inductive Base
  | ten
  | sixteen
  deriving DecidableEq, Repr

/-- The value of a base. -/
def Base.value : Base → Nat
  | .ten => 10
  | .sixteen => 16

/-- The greatest number of digits of a decimal numeral. -/
def maxDecimalDigits : Nat := 4300

/-- The value of a letter used as a digit, in either case. -/
def letterValue? (c : Char) : Option Nat :=
  if 'a' ≤ c ∧ c ≤ 'f' then some (c.toNat - 'a'.toNat + 10)
  else if 'A' ≤ c ∧ c ≤ 'F' then some (c.toNat - 'A'.toNat + 10)
  else none

/-- The value of a character as a digit of a base. -/
def digitValue? : Base → Char → Option Nat
  | .ten, c => DecimalDigit.value? c
  | .sixteen, c => (DecimalDigit.value? c).or (letterValue? c)

/-- The values of a non-empty row of digits with at most one underscore between neighbours. -/
def digitRow? (value? : Char → Option Nat) : List Char → Option (List Nat)
  | [] => none
  | [c] => (value? c).map ([·])
  | c :: '_' :: rest => do
    let d ← value? c
    let ds ← digitRow? value? rest
    pure (d :: ds)
  | c :: rest => do
    let d ← value? c
    let ds ← digitRow? value? rest
    pure (d :: ds)

/-- The number that a row of digits stands for. -/
def ofDigits (base : Nat) (ds : List Nat) : Nat :=
  ds.foldl (fun n d ↦ base * n + d) 0

/-- Whether a numeral may have this many digits. -/
def Base.allows : Base → Nat → Bool
  | .ten, count => count ≤ maxDecimalDigits
  | .sixteen, _ => true

/-- The characters after the mark that base sixteen allows in front of the digits. -/
def dropMark : Base → List Char → List Char
  | .sixteen, zero :: x :: rest =>
    if DecimalDigit.value? zero = some 0 ∧ (x = 'x' ∨ x = 'X') then
      match rest with
      | '_' :: digits => digits
      | digits => digits
    else zero :: x :: rest
  | _, cs => cs

/-- The number that unsigned digits stand for. -/
def readDigits? (base : Base) (cs : List Char) : Option Nat :=
  match digitRow? (digitValue? base) (dropMark base cs) with
  | some ds => if base.allows ds.length then some (ofDigits base.value ds) else none
  | none => none

/-- The number that digits with at most one sign in front stand for. -/
def readSigned? (base : Base) : List Char → Option Int
  | '-' :: cs => (readDigits? base cs).map fun n ↦ -(n : Int)
  | '+' :: cs => (readDigits? base cs).map Int.ofNat
  | cs => (readDigits? base cs).map Int.ofNat

/-- A list without the members of a class at its two ends. -/
def stripBoth (p : Char → Bool) (cs : List Char) : List Char :=
  ((cs.dropWhile p).reverse.dropWhile p).reverse

/-- The number that a text is a written form of. -/
def read? (base : Base) (text : String) : Option Int :=
  readSigned? base (stripBoth Blank.isBlank text.toList)

end ChipEight.Numeral
