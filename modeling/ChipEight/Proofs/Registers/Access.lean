import ChipEight.Registers
import ChipEight.Proofs.Keypad.Fresh

/-!
# Reading the byte registers back

Each way of storing in the byte registers, read back register by register: one register, the flag,
and a row of registers. A row is stored up to the last register, and what would lie beyond it is
dropped.
-/

namespace ChipEight.Registers

variable (r : Registers) (x z : Reg) (value : UInt8) (flag : Bool)

theorem get_put : (r.put x value).get z = if x = z then value else r.get z :=
  Nibble.get_set ..

theorem get_putFlag :
    (r.putFlag flag).get z = if Reg.flag = z then (if flag then 1 else 0) else r.get z :=
  get_put ..

/-- A register below a row that is stored, or above it, keeps its byte. -/
theorem get_putFrom_of_outside (start : Nat) (bytes : List UInt8)
    (h : z.val < start ∨ start + bytes.length ≤ z.val) :
    (r.putFrom start bytes).get z = r.get z := by
  induction bytes generalizing r start with
  | nil => rfl
  | cons byte rest ih =>
    rw [List.length_cons] at h
    unfold putFrom
    split
    · rename_i hstart
      have hne : (⟨start, hstart⟩ : Reg) ≠ z := by
        rintro rfl
        dsimp only at h
        omega
      rw [ih _ _ (by omega), get_put, if_neg hne]
    · rfl

/-- A register inside a row that is stored takes the byte that the row has for it. -/
theorem get_putFrom_of_inside (start : Nat) {k : Nat} (bytes : List UInt8) (hk : k < bytes.length)
    (hz : z.val = start + k) : (r.putFrom start bytes).get z = bytes[k] := by
  induction bytes generalizing r start k with
  | nil => exact absurd hk (Nat.not_lt_zero k)
  | cons byte rest ih =>
    have hstart : start < 16 := by omega
    rw [List.length_cons] at hk
    rw [putFrom, dif_pos hstart]
    cases k with
    | zero =>
      have hself : (⟨start, hstart⟩ : Reg) = z := Fin.ext hz.symm
      rw [get_putFrom_of_outside _ _ _ _ (.inl (by omega)), get_put, if_pos hself]
      rfl
    | succ k => exact ih _ _ (by omega) (by omega)

/-- The registers up to one of them, register by register. -/
theorem getElem_upTo {k : Nat} (hk : k < (r.upTo x).length) (hz : z.val = k) :
    (r.upTo x)[k] = r.get z := by
  subst hz
  simp [upTo, get, Vector.get]

end ChipEight.Registers
