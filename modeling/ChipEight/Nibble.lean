/-!
# Nibbles

Numbers of four bits. They number the byte registers, the keys and the rows of a sprite.

## Main definitions

* `Nibble.ofNat`: the lowest four bits of a number.
* `Nibble.ofInt?`: the nibble that an integer is, if it is one.
-/

namespace ChipEight

/-- A number of four bits. -/
abbrev Nibble := Fin 16

namespace Nibble

/-- The lowest four bits of a number. -/
def ofNat (n : Nat) : Nibble :=
  ⟨n % 16, Nat.mod_lt n (Nat.succ_pos 15)⟩

/-- The nibble that an integer is, if it is one. -/
def ofInt? (n : Int) : Option Nibble :=
  if h : 0 ≤ n ∧ n < 16 then some ⟨n.toNat, by omega⟩ else none

@[simp] theorem val_ofNat (n : Nat) : (ofNat n).val = n % 16 := rfl

/-- An integer is no nibble exactly when it lies outside the range of four bits. -/
theorem ofInt?_eq_none_iff {n : Int} : ofInt? n = none ↔ n < 0 ∨ 16 ≤ n := by
  unfold ofInt?
  split
  case isTrue h => simp only [reduceCtorEq, false_iff]; omega
  case isFalse h => simp only [true_iff]; omega

end Nibble

end ChipEight
